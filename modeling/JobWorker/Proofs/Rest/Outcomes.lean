/-
How the operations of a gateway behind a network come out.

An operation is one request and one reply, or none.  The reply decides the result, and it does so in the
same way for all operations: no reply means that the gateway is unavailable, a status outside of 200 to
299 that it refuses, and otherwise it is up to the body.  For a command that is all, while an answer with
jobs has to make sense.

The only other result comes before any request: variables that are neither blank nor a document cannot be
sent.
-/
import JobWorker.Proofs.Except
import JobWorker.Proofs.Rest.Posting
import JobWorker.Proofs.Text.Utf8

namespace JobWorker.Rest

open Json

variable {ν α : Type} [Network ν] {path : String} {body : Value} {reply? : Option Reply}

/-! ### One request -/

/-- A request with a body is made to a path, at most once: what becomes of the gateway, and the reply.
Nothing comes of a request to an address that cannot be used. -/
inductive Remote.Tries (g : Remote ν) (path : String) (body : Value) : Remote ν → Option Reply → Prop
  | unmade : (∀ address, ¬ g.endpoint.Reaches path address) → Tries g path body g none
  | made {address : Url} {p : Post} {network' : ν} {reply? : Option Reply} :
      g.endpoint.Reaches path address → p.url = address.withoutLogin → p.body = body.text →
      Network.exchange g.network p = (network', reply?) →
      Tries g path body { g with network := network' } reply?

/-- Why a request that cannot be made is not made. -/
theorem Endpoint.error_of_post {e : Endpoint} {error : GatewayError} (h : e.post path body = .error error) :
    ∃ reason, error = .unavailable reason := by
  unfold post at h
  split at h
  · cases h
    exact ⟨_, rfl⟩
  simp only at h
  split at h
  · cases h
    exact ⟨_, rfl⟩
  split at h
  · cases h
    exact ⟨_, rfl⟩
  split at h
  · cases h
    exact ⟨_, rfl⟩
  · cases h

/-! ### What a reply means -/

/-- A status that stands for success. -/
def Reply.Succeeds (r : Reply) : Prop := 200 ≤ r.status.toNat ∧ r.status.toNat ≤ 299

theorem Reply.isSuccess_iff {r : Reply} : r.isSuccess = true ↔ r.Succeeds := by
  simp only [isSuccess, Succeeds, Bool.and_eq_true, decide_eq_true_eq, UInt16.le_iff_toNat_le,
    UInt16.lt_iff_toNat_lt, UInt16.reduceToNat]
  omega

/-- A body as it is quoted: as the text that it encodes, or with marks where it encodes none. -/
inductive Quotes (body : List UInt8) : String → Prop
  | text {text : String} : body = Text.Utf8.encode text → Quotes body text
  | noText : (∀ text, body ≠ Text.Utf8.encode text) → Quotes body (Text.Utf8.lossy body)

theorem quotes_lossy (body : List UInt8) : Quotes body (Text.Utf8.lossy body) := by
  by_cases h : ∃ text, body = Text.Utf8.encode text
  · obtain ⟨text, rfl⟩ := h
    rw [Text.Utf8.lossy_encode]
    exact .text rfl
  · exact .noText fun text htext => h ⟨text, htext⟩

/-- What an operation comes to that decodes the body of its reply. -/
inductive Classified (decode : List UInt8 → Except Json.Error α) :
    Option Reply → Except GatewayError α → Prop
  | unavailable (reason : String) : Classified decode none (.error (.unavailable reason))
  | rejected {r : Reply} {message : String} : ¬ r.Succeeds → Quotes r.body message →
      Classified decode (some r) (.error (.rejected r.status message))
  | accepted {r : Reply} {a : α} : r.Succeeds → decode r.body = .ok a →
      Classified decode (some r) (.ok a)
  | senseless {r : Reply} {e : Json.Error} (reason : String) : r.Succeeds → decode r.body = .error e →
      Classified decode (some r) (.error (.invalidResponse reason))

theorem classified_received (p : Post) (reply? : Option Reply) :
    Classified .ok reply? (received p reply?) := by
  cases reply? with
  | none => exact .unavailable _
  | some r =>
    rw [received]
    split
    · next h => exact .accepted (Reply.isSuccess_iff.1 h) rfl
    · next h => exact .rejected (mt Reply.isSuccess_iff.2 h) (quotes_lossy r.body)

/-- A command is accepted whatever the body. -/
theorem Classified.command {received : Except GatewayError (List UInt8)}
    (h : Classified .ok reply? received) :
    Classified (fun _ => .ok ()) reply? (received.map fun _ => ()) := by
  cases h with
  | unavailable reason => exact .unavailable reason
  | rejected hfails hquotes => exact .rejected hfails hquotes
  | accepted hsucceeds hbody => exact .accepted hsucceeds rfl
  | senseless reason hsucceeds hbody => cases hbody

/-- An answer with jobs has to be decoded. -/
theorem Classified.jobs {received : Except GatewayError (List UInt8)}
    (h : Classified .ok reply? received) : Classified decodeJobs reply? (received.bind granted) := by
  cases h with
  | unavailable reason => exact .unavailable reason
  | rejected hfails hquotes => exact .rejected hfails hquotes
  | @accepted r body hsucceeds hbody =>
    cases hbody
    rw [Except.bind, granted]
    cases hdecode : decodeJobs r.body with
    | ok jobs => exact .accepted hsucceeds hdecode
    | error e => exact .senseless _ hsucceeds hdecode
  | senseless reason hsucceeds hbody => cases hbody

/-! ### The operations -/

/-- Whatever is posted is tried once, and the reply decides. -/
theorem tries_exchange (g : Remote ν) (path : String) (body : Value) :
    ∃ reply?, g.Tries path body (g.exchange (g.endpoint.post path body)).1 reply? ∧
      Classified .ok reply? (g.exchange (g.endpoint.post path body)).2 := by
  cases hpost : g.endpoint.post path body with
  | error error =>
    obtain ⟨reason, rfl⟩ := Endpoint.error_of_post hpost
    refine ⟨none, .unmade fun address haddress => ?_, .unavailable reason⟩
    rw [Endpoint.post_eq_ok_iff.2 ⟨address, haddress, rfl⟩] at hpost
    cases hpost
  | ok p =>
    obtain ⟨address, haddress, rfl⟩ := Endpoint.post_eq_ok_iff.1 hpost
    exact ⟨_, .made haddress rfl rfl rfl, classified_received _ _⟩

/-- Variables that are sent: those that are none, and those that are a document. -/
theorem exists_variablesValue {document : Option String}
    (h : ∀ text ∈ document, Text.isBlankText text = true ∨ ∃ v, parse readValue text = .ok v) :
    ∃ value, variablesValue document = .ok value := by
  cases document with
  | none => exact ⟨none, rfl⟩
  | some text =>
    rw [variablesValue]
    split
    · exact ⟨none, rfl⟩
    · next hblank =>
      obtain ⟨v, hv⟩ := (h text rfl).resolve_left hblank
      exact ⟨some v, by rw [hv]; rfl⟩

/-- How the operations of a gateway come out. -/
structure Remote.Faithful (g : Remote ν) : Prop where
  activate : ∀ request : ActivateRequest, ∃ reply? result,
    g.Tries activationPath (activationBody g.endpoint.requestTimeout request)
      (Gateway.activate g request).1 reply? ∧
      (Gateway.activate g request).2 = some result ∧ Classified decodeJobs reply? result
  /-- Variables that are no document are found out before anything is sent. -/
  refused : ∀ (key : JobKey) {text : String}, Text.isBlankText text = false →
    (∀ v, parse readValue text ≠ .ok v) →
      ∃ reason, Gateway.perform g (.complete ⟨key, some text⟩) = (g, .error (.invalidRequest reason))
  complete : ∀ (key : JobKey) {document : Option String},
    (∀ text ∈ document, Text.isBlankText text = true ∨ ∃ v, parse readValue text = .ok v) →
      ∃ value reply?, variablesValue document = .ok value ∧
        g.Tries (completionPath key) (completionBody value)
          (Gateway.perform g (.complete ⟨key, document⟩)).1 reply? ∧
        Classified (fun _ => .ok ()) reply? (Gateway.perform g (.complete ⟨key, document⟩)).2
  fail : ∀ request : FailRequest, ∃ reply?,
    g.Tries (failurePath request.key) (failureBody request) (Gateway.perform g (.fail request)).1 reply? ∧
      Classified (fun _ => .ok ()) reply? (Gateway.perform g (.fail request)).2

/-- **Outcomes are classified faithfully**, whatever is asked and whatever the network does. -/
theorem outcomes_are_classified (g : Remote ν) : g.Faithful where
  activate request := by
    obtain ⟨reply?, htries, hclassified⟩ := tries_exchange g activationPath
      (activationBody g.endpoint.requestTimeout request)
    exact ⟨reply?, _, htries, rfl, hclassified.jobs⟩
  refused key text hblank hbad := by
    obtain ⟨error, herror⟩ := exists_error_of_ne hbad
    have hcommand : g.endpoint.command (.complete ⟨key, some text⟩) =
        .error (.invalidRequest ("variables are not valid JSON: " ++ error.message)) := by
      simp only [Endpoint.command, variablesValue, hblank, herror]
      rfl
    exact ⟨_, by simp only [Gateway.perform, hcommand]; rfl⟩
  complete key document h := by
    obtain ⟨value, hvalue⟩ := exists_variablesValue h
    obtain ⟨reply?, htries, hclassified⟩ := tries_exchange g (completionPath key) (completionBody value)
    have hcommand : g.endpoint.command (.complete ⟨key, document⟩) =
        g.endpoint.post (completionPath key) (completionBody value) := by
      simp only [Endpoint.command, hvalue]
    rw [← hcommand] at htries hclassified
    exact ⟨value, reply?, hvalue, htries, hclassified.command⟩
  fail request := by
    obtain ⟨reply?, htries, hclassified⟩ := tries_exchange g (failurePath request.key) (failureBody request)
    exact ⟨reply?, htries, hclassified.command⟩

end JobWorker.Rest
