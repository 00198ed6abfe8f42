/-
How long the jobs are leased that are asked for.

A caller gives the length of a lease as a duration, and a duration of zero is refused.  A request says
it in milliseconds, in a word of 64 bits.  The duration is put into the word after the check: what it
has beyond whole milliseconds is lost, and so is what does not fit into the word.  So every accepted
setting leads to requests for the whole milliseconds modulo 2^64, and these can be none at all.  That
is so for less than a millisecond, and for the multiples of 2^64 milliseconds.
-/
import JobWorker.Gateway.Scripted
import JobWorker.Proofs.Settings.Accepted
import JobWorker.Proofs.Worker.Backpressure

namespace JobWorker

/-! ### Milliseconds in a word -/

namespace Duration

theorem millis_eq (d : Duration) : d.millis = d.totalNanos / 1000000 := by
  simp only [millis, totalNanos, nanosPerSecond]
  omega

theorem toNat_millisWord (d : Duration) :
    d.millisWord.toNat = d.totalNanos / 1000000 % UInt64.size := by
  rw [millisWord, UInt64.toNat_ofNat', millis_eq]

end Duration

open Worker

/-! ### The requests that are made -/

/-- The lease of a worker is the same in all its requests. -/
theorem Worker.Reaches.timeoutMs {σ : Type} {w : Config σ} {history : List Move} {s : State σ}
    {events : List Event} (h : Reaches w history s events) :
    ∀ request ∈ requests events, request.timeoutMs = w.request.timeoutMs := by
  refine run_induction (bounded_start w)
    (motive := fun _ _ events => ∀ request ∈ requests events,
      request.timeoutMs = w.request.timeoutMs) ?_ ?_ h
  · simp
  · intro history s s' events more m _ ih hstep request hmem
    have hmem : request ∈ requests events ∨ request ∈ requests more := by simpa using hmem
    rcases hmem with hmem | hmem
    · exact ih request hmem
    · obtain ⟨rfl, -⟩ := hstep.asks_topUp hmem
      rfl

namespace Activation

variable {γ : Type} [Gateway γ]

/-- Asking once makes no request but the one. -/
theorem requests_run (request : ActivateRequest) (cancellation : Cancellation) (g : γ) :
    ∀ r ∈ requests (run request cancellation g).2.1, r = request := by
  have hconclude : ∀ answer, requests (conclude request answer).1 = [] := by
    intro answer
    cases answer <;> simp [conclude]
  intro r hmem
  unfold run at hmem
  split at hmem
  · simp at hmem
  · split at hmem
    · simp at hmem
    · simp only at hmem
      split at hmem
      · simpa [hconclude] using hmem
      · simpa using hmem

/-- Whatever request is made as the options say, they stand for it. -/
theorem request_of_send {o : Options} {env : Environment} {g : γ} {r : ActivateRequest}
    (hmem : r ∈ requests (o.send env g).2.1) : ∃ notices, o.request env = (notices, .ok r) := by
  unfold Options.send at hmem
  split at hmem
  · simp at hmem
  · rename_i notices request hrequest
    have hmem : r ∈ requests (run request .never g).2.1 := by simpa using hmem
    exact ⟨notices, by rw [hrequest, requests_run request .never g r hmem]⟩

end Activation

/-! ### What a lease is worth -/

/-- Jobs are leased for the whole milliseconds of a timeout that is not zero, modulo 2^64. -/
structure Leased (timeout : Duration) (request : ActivateRequest) : Prop where
  ne_zero : timeout ≠ .zero
  timeoutMs : request.timeoutMs.toNat = timeout.totalNanos / 1000000 % UInt64.size

/--
**Leases.**  A worker whose options are accepted has been given a timeout, and every request that it
ever makes leases jobs for it.  So does every request that is made once, with the timeout that was
given or else with that of the environment.  A lease is for no time at all exactly when the whole
milliseconds of the timeout are a multiple of 2^64.
-/
theorem leases_of_accepted {σ γ : Type} [Gateway γ] (env : Environment) :
    (∀ (o : Worker.Options σ) (notices : List Notice) (w : Config σ),
      o.config env = (notices, .ok w) →
        ∃ timeout, o.timeout = some timeout ∧
          ∀ (history : List Move) (s : State σ) (events : List Event),
            Reaches w history s events → ∀ request ∈ requests events, Leased timeout request) ∧
    (∀ (o : Activation.Options) (g : γ), ∀ request ∈ requests (o.send env g).2.1,
      Leased (o.lease env) request) ∧
    ∀ (timeout : Duration) (request : ActivateRequest), Leased timeout request →
      (0 < request.timeoutMs.toNat ↔ ¬ UInt64.size ∣ timeout.totalNanos / 1000000) := by
  refine ⟨?_, ?_, ?_⟩
  · intro o notices w h
    obtain ⟨g, hgiven, hrequest⟩ := Worker.Options.request_of_config h
    obtain ⟨-, -, -, htimeout, hpos⟩ := Worker.Options.given_eq_ok_iff.mp hgiven
    refine ⟨g.timeout, htimeout, fun history s events hreaches request hmem => ⟨hpos, ?_⟩⟩
    rw [hreaches.timeoutMs request hmem, hrequest]
    exact g.timeout.toNat_millisWord
  · intro o g request hmem
    obtain ⟨notices, hrequest⟩ := Activation.request_of_send hmem
    obtain ⟨hpos, jobType, limit, -, -, rfl⟩ := Activation.request_eq_ok hrequest
    exact ⟨hpos, Duration.toNat_millisWord _⟩
  · rintro timeout request ⟨-, hmillis⟩
    rw [hmillis, Nat.pos_iff_ne_zero, Ne, ← Nat.dvd_iff_mod_eq_zero]

/-- A worker with such a timeout. -/
def leasing (timeout : Duration) : Worker.Options Unit where
  jobType := some "email"
  handler := some sampleHandler
  maxJobsActive := some 2
  timeout := some timeout
  name := none
  pollInterval := none
  fetchVariables := []
  autoComplete := false

/-- One activation with such a timeout. -/
def leasingOnce (timeout : Duration) : Activation.Options where
  jobType := some "email"
  limit := some 2
  timeout := some timeout
  workerName := none
  fetchVariables := []

/-- Of a millisecond and a half, a millisecond is left. -/
theorem leases_of_accepted_pastMillis :
    ∃ notices w s events request, (leasing ⟨0, 1500000⟩).config .unset = (notices, .ok w) ∧
      Reaches w [.first] s events ∧ requests events = [request] ∧ request.timeoutMs = 1 ∧
      Leased ⟨0, 1500000⟩ request ∧ 0 < request.timeoutMs.toNat := by
  refine ⟨_, _, _, _, _, rfl, rfl, rfl, rfl, ?_⟩
  obtain ⟨hworker, -, hpos⟩ := leases_of_accepted (σ := Unit) (γ := Scripted) .unset
  obtain ⟨timeout, htimeout, hleased⟩ := hworker (leasing ⟨0, 1500000⟩) _ _ rfl
  cases htimeout
  have hlease := hleased [.first] _ _ rfl _ (List.mem_singleton.mpr rfl)
  exact ⟨hlease, (hpos _ _ hlease).mpr (by decide)⟩

/-- Not every accepted timeout makes a lease: a nanosecond is accepted, and jobs are asked for with a
lease of no time at all, by a worker and by a single activation.  The same is true of 2^61 seconds. -/
theorem instant_not_leased :
    ¬ (∀ (o : Worker.Options Unit) (env : Environment) (notices : List Notice) (w : Config Unit),
        o.config env = (notices, .ok w) →
          ∀ (history : List Move) (s : State Unit) (events : List Event),
            Reaches w history s events → ∀ request ∈ requests events,
              0 < request.timeoutMs.toNat) ∧
    ¬ (∀ (o : Activation.Options) (env : Environment) (g : Scripted),
        ∀ request ∈ requests (o.send env g).2.1, 0 < request.timeoutMs.toNat) ∧
    (∃ request,
      requests ((leasingOnce ⟨2305843009213693952, 0⟩).send .unset Scripted.blank).2.1 = [request] ∧
      request.timeoutMs = 0) := by
  refine ⟨?_, ?_, _, rfl, rfl⟩
  · intro h
    exact absurd (h (leasing ⟨0, 1⟩) .unset _ _ rfl [.first] _ _ rfl _ (List.mem_singleton.mpr rfl))
      (by decide)
  · intro h
    exact absurd (h (leasingOnce ⟨0, 1⟩) .unset Scripted.blank _ (List.mem_singleton.mpr rfl))
      (by decide)

end JobWorker
