/-
What a request carries.

A request is made only for an address that can be used, and then it is the same for every body and
path but for these two.
-/
import JobWorker.Rest

namespace JobWorker.Rest.Endpoint

/-- Requests to a path can be made, and they go to this address. -/
structure Reaches (e : Endpoint) (path : String) (address : Url) : Prop where
  read : Url.read? (e.base ++ path) = some address
  host : address.withoutLogin.hasHost = true
  token : e.token.all isSendable = true
  web : address.withoutLogin.isWeb = true
  sendable : address.withoutLogin.isSendable = true

variable {e : Endpoint} {path : String} {body : Json.Value} {p : Post}

/-- What a request consists of, and when it can be made. -/
theorem post_eq_ok_iff : e.post path body = .ok p ↔ ∃ address, e.Reaches path address ∧
    p = { url := address.withoutLogin
          login := address.login?
          authorization := e.token.map ("Bearer " ++ ·)
          contentType := "application/json"
          body := body.text } := by
  constructor
  · intro h
    unfold post at h
    cases hread : Url.read? (e.base ++ path) with
    | none => simp [hread] at h
    | some address =>
      simp only [hread] at h
      split at h
      · cases h
      split at h
      · cases h
      split at h
      · cases h
      rename_i hhost htoken husable
      rw [Bool.not_eq_true, Bool.not_eq_false'] at hhost htoken husable
      obtain ⟨hweb, hsendable⟩ := Bool.and_eq_true_iff.1 husable
      exact ⟨address, ⟨hread, hhost, htoken, hweb, hsendable⟩, (Except.ok.inj h).symm⟩
  · rintro ⟨address, h, rfl⟩
    simp [post, h.read, h.host, h.token, h.web, h.sendable]

theorem body_of_post (h : e.post path body = .ok p) : p.body = body.text := by
  obtain ⟨address, -, rfl⟩ := post_eq_ok_iff.1 h
  rfl

end JobWorker.Rest.Endpoint
